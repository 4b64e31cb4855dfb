import PictureTransfer.Proofs.UsbIp.Handling

/-!
# The history of a device

Serving a host that takes all replies is a sequence of moments: a request is parked or taken back, a
parked request leaves with what it carries, some other reply is written, a callback happens. `Leads`
says when a moment is possible and what it leads to, and a `Path` is such a sequence. Every command
is served along a path on which each delivery is followed by its completion and nothing else
completes (`handle_passes`), and so are any number of commands (`exists_serves`).
-/

namespace PictureTransfer

/-- Some operations, each with whether the bus carries it out when its turn comes. -/
def Bus.verdicts {β : Type} [Bus β] : List Op → β → List (Op × Bool)
  | [], _ => []
  | op :: rest, bus => (op, (request op bus).toBool) :: verdicts rest (perform op bus)

/-- What a responder asks of its bus in a callback, and what becomes of it. -/
def Attached.verdicts {β σ : Type} [Bus β] [Responder σ] (a : Attached β σ) (c : Callback) :
    List (Bus.Op × Bool) := Bus.verdicts ((a.actions c).filterMap Action.op?) a.bus

namespace Bus.Endpoints

theorem perform_submitIn (bus : Endpoints) (ep : UInt8) (data : Bytes) :
    Bus.perform (.submitIn ep data) bus = if transferSize < data.length then bus
      else { bus with waiting := bus.waiting ++ [(ep, data)] } := by
  by_cases long : transferSize < data.length
  · have refused : Bus.request (.submitIn ep data) bus
        = .error (.tooLarge ep data.length transferSize) := if_pos long
    rw [if_pos long, Bus.perform, refused]
  · rw [if_neg long, Bus.perform, request_submitIn bus ep (Nat.le_of_not_lt long)]

theorem unstalled_perform (bus : Endpoints) (op : Op) (unstalled : bus.stalled = []) :
    (Bus.perform op bus).stalled = [] := by
  cases op with
  | armOut ep size => exact unstalled
  | submitIn ep data =>
    rw [perform_submitIn]
    split <;> exact unstalled
  | abortIn ep => exact unstalled
  | clearStall ep => exact List.filter_eq_nil_iff.2 (by rw [unstalled]; exact List.forall_mem_nil _)

end Bus.Endpoints

namespace UsbIp

/-- Something that happens to a device. A callback is kept with the operations that the responder
asks for in it and what became of them, and an unlink with the request that it found parked. -/
inductive Moment where
  | parked (p : Parked)
  | unlinked (seqnum target : UInt32) (found : Option Parked)
  | answered (urb : Submit) (reply : Reply)
  | delivered (p : Parked) (data : Bytes)
  | called (c : Callback) (ops : List (Bus.Op × Bool))
  | disarmed
  | configured (configuration : UInt8)

namespace Moment

/-- What is written to the host. -/
def reply? : Moment → Option Reply
  | .unlinked seqnum _ found =>
    some (.unlinked seqnum (if found.isSome then Reply.connectionReset else 0))
  | .answered _ reply => some reply
  | .delivered p data => some (p.delivery data)
  | _ => none

/-- The request that is parked. -/
def parked? : Moment → Option Parked
  | .parked p => some p
  | _ => none

/-- A moment that neither delivers nor completes anything. -/
inductive Other : Moment → Prop where
  | parked (p : Parked) : Other (.parked p)
  | unlinked (seqnum target : UInt32) (found : Option Parked) :
      Other (.unlinked seqnum target found)
  | answered (urb : Submit) (reply : Reply) : Other (.answered urb reply)
  | called {c : Callback} {ops : List (Bus.Op × Bool)} (other : ∀ ep, c ≠ .inCompleted ep) :
      Other (.called c ops)
  | disarmed : Other .disarmed
  | configured (configuration : UInt8) : Other (.configured configuration)

/-- Moments in which every delivery is followed by its completion, and nothing else completes. -/
inductive Paced : List Moment → Prop where
  | nil : Paced []
  | delivered (p : Parked) (data : Bytes) (ops : List (Bus.Op × Bool)) {later : List Moment}
      (rest : Paced later) :
      Paced (.delivered p data :: .called (.inCompleted p.ep) ops :: later)
  | other {m : Moment} {later : List Moment} (other : m.Other) (rest : Paced later) :
      Paced (m :: later)

theorem Paced.append {first later : List Moment} (h : Paced first) (rest : Paced later) :
    Paced (first ++ later) := by
  induction h with
  | nil => exact rest
  | delivered p data ops _ ih => exact .delivered p data ops ih
  | other other _ ih => exact .other other ih

end Moment

/-- The request that a command parks on a device with these endpoints. -/
def Urb.request? (descriptors : Descriptors) : Urb → Option Parked
  | .submit urb =>
    if urb.ep ≠ 0 ∧ urb.isIn = true ∧ (descriptors.endpoint? urb.address).isSome = true then
      some urb.slot
    else none
  | .unlink _ _ => none

theorem Device.ep_of_unpark? {ep : UInt8} {parked left : List Parked} {p : Parked}
    (h : Device.unpark? ep parked = some (p, left)) : p.ep = ep := by
  induction parked generalizing left with
  | nil => cases h
  | cons q rest ih =>
    unfold Device.unpark? at h
    split at h
    · next own =>
      cases h
      exact own
    · obtain ⟨⟨r, later⟩, found, same⟩ := Option.map_eq_some_iff.1 h
      cases same
      exact ih found

namespace Serving

variable {σ : Type} [Responder σ]

/-- What a moment leads to. A request is parked for an endpoint of the device, a reply is due to a
transfer itself, and the oldest request on an endpoint leaves with the transfer that waits longest
there. -/
inductive Leads (s : Serving σ) : Moment → Serving σ → Prop where
  | parked (urb : Submit) (isIn : urb.isIn = true)
      (known : (s.device.descriptors.endpoint? urb.address).isSome = true) :
      Leads s (.parked urb.slot) (s.park urb.slot)
  | unlinked (seqnum target : UInt32) :
      Leads s (.unlinked seqnum target (s.device.parked.find? (s.names target)))
        ((s.takeBack target).wrote (.unlinked seqnum
          (if s.device.parked.any (·.seqnum = target) then Reply.connectionReset else 0)))
  | answered {urb : Submit} {reply : Reply} (due : Due σ urb reply) :
      Leads s (.answered urb reply) (s.wrote reply)
  | delivered {p : Parked} {parked : List Parked} {data : Bytes} {bus : Bus.Endpoints}
      (unparked : Device.unpark? p.ep s.device.parked = some (p, parked))
      (popped : s.device.bus.pop? p.ep = some (data, bus)) :
      Leads s (.delivered p data) ((s.left parked bus).wrote (p.delivery data))
  | called (c : Callback) :
      Leads s (.called c (s.device.attached.verdicts c))
        (s.withAttached (s.device.attached.step c))
  | disarmed :
      Leads s .disarmed (s.withAttached { s.device.attached with bus := s.device.bus.disarm })
  | configured (configuration : UInt8) :
      Leads s (.configured configuration) { s with device := { s.device with configuration } }

/-- Some moments, one after another. -/
inductive Path : Serving σ → List Moment → Serving σ → Prop where
  | nil (s : Serving σ) : Path s [] s
  | cons {s t u : Serving σ} {m : Moment} {ms : List Moment} (leads : Leads s m t)
      (later : Path t ms u) : Path s (m :: ms) u

/-- A moment consists of small steps. -/
theorem Leads.steps {s t : Serving σ} {m : Moment} (h : Leads s m t) : Steps s t := by
  cases h with
  | parked urb isIn known => exact .single (.parked s urb isIn known)
  | unlinked seqnum target => exact .head (.unlinked s target) (.single (.wrote _ _))
  | answered due => exact .single (.wrote s _)
  | delivered unparked popped =>
    exact .head (.taken s _ _ _ _ _ unparked popped) (.single (.wrote _ _))
  | called c => exact .single (.called s c)
  | disarmed => exact .single (.disarmed s)
  | configured configuration => exact .single (.configured s configuration)

theorem Leads.replies {s t : Serving σ} {m : Moment} (h : Leads s m t) :
    t.replies = s.replies ++ m.reply?.toList := by
  cases h with
  | unlinked seqnum target =>
    rw [Moment.reply?, List.isSome_find?, any_names]
    rfl
  | answered due => rfl
  | delivered unparked popped => rfl
  | _ => exact (List.append_nil _).symm

theorem Leads.limit {s t : Serving σ} {m : Moment} (h : Leads s m t) : t.limit = s.limit := by
  cases h <;> rfl

namespace Path

variable {s t u : Serving σ} {first later ms : List Moment}

theorem single {m : Moment} (h : Leads s m t) : Path s [m] t := .cons h (.nil t)

theorem append (h : Path s first t) (rest : Path t later u) : Path s (first ++ later) u := by
  induction h with
  | nil s => exact rest
  | cons leads _ ih => exact .cons leads (ih rest)

/-- A path passes through a state at every moment of it. -/
theorem split (h : Path s (first ++ later) u) : ∃ t, Path s first t ∧ Path t later u := by
  induction first generalizing s with
  | nil => exact ⟨s, .nil s, h⟩
  | cons m rest ih =>
    cases h with
    | cons leads after =>
      obtain ⟨t, before, behind⟩ := ih after
      exact ⟨t, .cons leads before, behind⟩

theorem steps (h : Path s ms t) : Steps s t := by
  induction h with
  | nil s => exact .refl
  | cons leads _ ih => exact leads.steps.trans ih

theorem limit (h : Path s ms t) : t.limit = s.limit := by
  induction h with
  | nil s => rfl
  | cons leads _ ih => exact ih.trans leads.limit

/-- The replies are those of the moments, in order. -/
theorem replies (h : Path s ms t) : t.replies = s.replies ++ ms.filterMap Moment.reply? := by
  induction h with
  | nil s => exact (List.append_nil _).symm
  | @cons s t u m ms leads later ih =>
    rw [ih, leads.replies, List.append_assoc, filterMap_cons_eq_append]

end Path

/-- Some moments lead from one state to another. In them every delivery has its completion, and
these requests are parked. -/
structure Passes (s : Serving σ) (ms : List Moment) (t : Serving σ) (slots : List Parked) :
    Prop where
  path : Path s ms t
  paced : Moment.Paced ms
  parked : ms.filterMap Moment.parked? = slots

namespace Passes

variable {s t u : Serving σ} {first later ms : List Moment} {slots more : List Parked}

theorem nil (s : Serving σ) : Passes s [] s [] := ⟨.nil s, .nil, rfl⟩

theorem single {m : Moment} (leads : Leads s m t) (other : m.Other) :
    Passes s [m] t m.parked?.toList where
  path := .single leads
  paced := .other other .nil
  parked := (filterMap_cons_eq_append _ m []).trans (List.append_nil _)

theorem trans (h : Passes s first t slots) (rest : Passes t later u more) :
    Passes s (first ++ later) u (slots ++ more) where
  path := h.path.append rest.path
  paced := h.paced.append rest.paced
  parked := by rw [List.filterMap_append, h.parked, rest.parked]

theorem called (s : Serving σ) {c : Callback} (other : ∀ ep, c ≠ .inCompleted ep) :
    Passes s [.called c (s.device.attached.verdicts c)]
      (s.withAttached (s.device.attached.step c)) [] := .single (.called c) (.called other)

/-- A transfer is delivered and completes. -/
theorem delivered {p : Parked} {parked : List Parked} {data : Bytes} {bus : Bus.Endpoints}
    (unparked : Device.unpark? p.ep s.device.parked = some (p, parked))
    (popped : s.device.bus.pop? p.ep = some (data, bus)) :
    let t := (s.left parked bus).wrote (p.delivery data)
    ∃ ops, Passes s [.delivered p data, .called (.inCompleted p.ep) ops]
      (t.withAttached (t.device.attached.inCompleted p.ep)) [] := by
  intro t
  have called := Leads.called (s := t) (.inCompleted p.ep)
  exact ⟨_, .cons (.delivered unparked popped) (.single called), .delivered p data _ .nil, rfl⟩

end Passes

/-! ## Serving along a path -/

theorem flush_passes {s : Serving σ} (unlimited : s.limit = none) :
    ∃ t ms, s.flush = .ok () t ∧ Passes s ms t [] := by
  fun_induction flush s with
  | case1 s nothing => exact ⟨s, [], rfl, .nil s⟩
  | case2 s ep ready p left data bus unparked popped cut taken e t failed =>
    rw [write_of_unlimited (by exact unlimited)] at failed
    cases failed
  | case3 s ep ready p left data bus unparked popped cut taken t written fewer ih =>
    rw [write_of_unlimited (by exact unlimited)] at written
    cases written
    obtain ⟨u, ms, flushed, later⟩ := ih unlimited
    obtain rfl := Device.ep_of_unpark? unparked
    obtain ⟨ops, first⟩ := Passes.delivered unparked popped
    exact ⟨u, _, flushed, first.trans later⟩
  | case4 s ep ready unmatched => exact ⟨s, [], rfl, .nil s⟩

theorem handOver_passes {s : Serving σ} (unlimited : s.limit = none) (piece : Bytes) :
    ∃ t ms, (s.handOver piece).flush = .ok () t ∧ Passes s ms t [] := by
  obtain ⟨t, ms, flushed, later⟩ := flush_passes (s := s.handOver piece) unlimited
  have disarmed : Passes s _ _ _ := .single .disarmed .disarmed
  have called : Passes (s.withAttached { s.device.attached with bus := s.device.bus.disarm }) _
      (s.handOver piece) _ := .called _ (c := .outCompleted piece) fun ep => Callback.noConfusion
  exact ⟨t, _, flushed, (disarmed.trans called).trans later⟩

theorem receive_passes {s : Serving σ} (unlimited : s.limit = none) (data : Bytes) :
    ∃ t ms, s.receive data = .ok () t ∧ Passes s ms t [] := by
  fun_induction receive data s with
  | case1 data s bus size attached e t failed =>
    -- no piece fails, as nothing that is written does
    obtain ⟨u, ms, flushed, -⟩ := handOver_passes unlimited (data.take size)
    cases flushed.symm.trans failed
  | case2 data s bus size attached t flushed last =>
    obtain ⟨u, ms, same, passes⟩ := handOver_passes unlimited (data.take size)
    cases same.symm.trans flushed
    exact ⟨t, ms, rfl, passes⟩
  | case3 data s bus size attached t flushed more ih =>
    obtain ⟨u, ms, same, passes⟩ := handOver_passes unlimited (data.take size)
    cases same.symm.trans flushed
    -- the host takes the replies to the other pieces too, as no moment limits it
    obtain ⟨v, rest, received, later⟩ := ih (passes.path.limit.trans unlimited)
    exact ⟨v, _, received, passes.trans later⟩

theorem standardRequest_passes (setup : Setup) (s : Serving σ) :
    ∃ ms, Passes s ms { s with device := (standardRequest setup s.device).2 } [] := by
  rw [standardRequest]
  dsimp only
  split
  · split <;> exact ⟨[], .nil s⟩
  · -- SET_CONFIGURATION opens the interface when it selects one
    have configured : Passes s _ _ _ := .single (.configured setup.value.toUInt8) (.configured _)
    split
    · have opened : Passes { s with device :=
          { s.device with configuration := setup.value.toUInt8 } } _ _ _ :=
        .called _ (c := .interfaceOpened 0) fun ep => Callback.noConfusion
      exact ⟨_, configured.trans opened⟩
    · exact ⟨_, configured⟩
  all_goals exact ⟨[], .nil s⟩

/-- The reply that is due is written, and then what waits is matched. -/
theorem reply_passes {s u : Serving σ} (unlimited : s.limit = none) {urb : Submit} {reply : Reply}
    {ms : List Moment} (before : Passes s ms u []) (due : Due σ urb reply) :
    ∃ t later, (match u.write reply with
        | .error e t => (.error e t : Outcome σ)
        | .ok () t => t.flush) = .ok () t ∧ Passes s later t [] := by
  have open_ended := before.path.limit.trans unlimited
  obtain ⟨t, later, flushed, behind⟩ := flush_passes (s := u.wrote reply) open_ended
  have answered : Passes u _ _ _ := .single (.answered due) (.answered urb reply)
  rw [write_of_unlimited open_ended]
  exact ⟨t, _, flushed, (before.trans answered).trans behind⟩

theorem control_passes {s : Serving σ} (unlimited : s.limit = none) {urb : Submit}
    (zero : urb.ep = 0) : ∃ t ms, s.control urb = .ok () t ∧ Passes s ms t [] := by
  rw [control]
  dsimp only
  -- the device serves what is standard and not for an endpoint, the responder all else
  by_cases own : ((Setup.ofBytes urb.setup).isStandard &&
      !(Setup.ofBytes urb.setup).toEndpoint) = true
  · rw [if_pos own]
    obtain ⟨ms, before⟩ := standardRequest_passes (Setup.ofBytes urb.setup) s
    rw [Bool.and_eq_true, Bool.not_eq_true'] at own
    exact reply_passes unlimited before (.standard zero own.1 own.2 s.device)
  · rw [if_neg own]
    have before : Passes s _
        (s.withAttached (s.device.attached.control (Setup.ofBytes urb.setup) urb.data).1) _ :=
      .called s (c := .control (Setup.ofBytes urb.setup) urb.data) fun ep => Callback.noConfusion
    exact reply_passes unlimited before (.responder zero _ _)

/-- Nothing halts an endpoint. -/
theorem Steps.unstalled {s t : Serving σ} (steps : Steps s t)
    (unstalled : s.device.bus.stalled = []) : t.device.bus.stalled = [] := by
  refine steps.invariant (P := fun u => u.device.bus.stalled = []) ?_ unstalled
  intro u v step unstalled
  cases step with
  | called c =>
    -- whatever the responder asks for, there is no operation that halts
    exact Attached.invariant_step (P := fun bus : Bus.Endpoints => bus.stalled = [])
      (fun op bus => bus.unstalled_perform op) unstalled c
  | taken ep p left data bus unparked popped =>
    obtain ⟨first, -, same⟩ := Option.map_eq_some_iff.1 popped
    cases same
    exact unstalled
  | _ => exact unstalled

theorem submit_passes {s : Serving σ} (unlimited : s.limit = none)
    (unstalled : s.device.bus.stalled = []) (urb : Submit) :
    ∃ t ms, s.submit urb = .ok () t ∧
      Passes s ms t (Urb.request? s.device.descriptors (.submit urb)).toList := by
  rw [submit, Urb.request?]
  by_cases zero : urb.ep = 0
  · rw [if_pos zero, if_neg fun own => own.1 zero]
    exact control_passes unlimited zero
  · rw [if_neg zero]
    dsimp only
    by_cases known : (s.device.descriptors.endpoint? urb.address).isSome = true
    · have usable : ¬((s.device.descriptors.endpoint? urb.address).isNone = true ∨
          s.device.bus.stalled.contains urb.address = true) := by
        rw [unstalled, not_or, Bool.not_eq_true, Option.isNone_eq_false_iff]
        exact ⟨known, Bool.false_ne_true⟩
      rw [if_neg usable]
      -- a request for data is parked and matched, data of the host is received piece by piece
      by_cases isIn : urb.isIn = true
      · rw [if_pos isIn, if_pos ⟨zero, isIn, known⟩]
        obtain ⟨t, ms, flushed, later⟩ := flush_passes (s := s.park urb.slot) unlimited
        have parked : Passes s _ _ _ := .single (.parked urb isIn known) (.parked urb.slot)
        exact ⟨t, _, flushed, parked.trans later⟩
      · rw [if_neg isIn, if_neg fun own => isIn own.2.1]
        rw [Bool.not_eq_true] at isIn
        obtain ⟨u, ms, received, before⟩ := receive_passes unlimited urb.data
        rw [received]
        exact reply_passes unlimited before (.received isIn)
    · have due : Due σ urb (.submitted urb.seqnum Reply.brokenPipe 0 []) := .refused
      have refused : Passes s _ _ _ := .single (.answered due) (.answered urb _)
      rw [Option.not_isSome_iff_eq_none] at known
      rw [known, if_pos (.inl rfl), if_neg fun own => Bool.false_ne_true own.2.2]
      exact ⟨_, _, write_of_unlimited unlimited _, refused⟩

/-- Every command of a host that takes all replies is served along a path, on which the request that
it parks is parked. -/
theorem handle_passes {s : Serving σ} (unlimited : s.limit = none)
    (unstalled : s.device.bus.stalled = []) (urb : Urb) :
    ∃ t ms, s.handle urb = .ok () t ∧
      Passes s ms t (urb.request? s.device.descriptors).toList := by
  cases urb with
  | submit urb => exact submit_passes unlimited unstalled urb
  | unlink seqnum target =>
    have taken : Passes s _ _ _ := .single (.unlinked seqnum target) (.unlinked seqnum target _)
    exact ⟨_, _, write_of_unlimited (s := s.takeBack target) unlimited _, taken⟩

/-- Some commands are handled, each along a path of its own, on which the request that it parks is
parked. -/
inductive Serves : Serving σ → List Urb → List Moment → Serving σ → Prop where
  | nil (s : Serving σ) : Serves s [] [] s
  | cons {s t u : Serving σ} {urb : Urb} {rest : List Urb} {ms more : List Moment}
      (handled : s.handle urb = .ok () t)
      (passes : Passes s ms t (urb.request? s.device.descriptors).toList)
      (later : Serves t rest more u) : Serves s (urb :: rest) (ms ++ more) u

theorem Serves.handleEach {s t : Serving σ} {urbs : List Urb} {ms : List Moment}
    (h : Serves s urbs ms t) : s.handleEach urbs = .ok () t := by
  induction h with
  | nil s => rfl
  | cons handled _ _ ih => rw [handleEach_cons handled, ih]

theorem Serves.passes {s t : Serving σ} {urbs : List Urb} {ms : List Moment}
    (h : Serves s urbs ms t) :
    Passes s ms t (urbs.filterMap (Urb.request? s.device.descriptors)) := by
  induction h with
  | nil s => exact .nil s
  | @cons s t u urb rest ms more handled passes later ih =>
    rw [passes.path.steps.identity.1] at ih
    rw [filterMap_cons_eq_append]
    exact passes.trans ih

/-- Commands are handled along a path as long as the host takes all replies. -/
theorem exists_serves {s : Serving σ} (unlimited : s.limit = none)
    (unstalled : s.device.bus.stalled = []) (urbs : List Urb) : ∃ t ms, Serves s urbs ms t := by
  induction urbs generalizing s with
  | nil => exact ⟨s, [], .nil s⟩
  | cons urb rest ih =>
    obtain ⟨t, ms, handled, passes⟩ := handle_passes unlimited unstalled urb
    obtain ⟨u, more, later⟩ :=
      ih (passes.path.limit.trans unlimited) (passes.path.steps.unstalled unstalled)
    exact ⟨u, _, .cons handled passes later⟩

end Serving

end UsbIp

end PictureTransfer
