import PictureTransfer.Proofs.Camera.Reading
import PictureTransfer.Proofs.Container.Standard
import PictureTransfer.Proofs.Relay.Replies
import PictureTransfer.Relay.Camera

/-!
# Whose containers a camera's relay gives out

A relay to a camera reads containers one after another and does not look at their transactions. What
it gives out for a transfer of the host are therefore the containers that come next, whatever was
asked. `replied` lists the containers that an exchange takes, each with the reply made of it, and
`Uses` accounts for the bytes that are read. Containers say where they end, so that bytes fall apart
into them in one way (`prefix_of_flatten`). `relays_in_order` states what follows of a camera that
answers in order: an exchange that finds nothing of earlier answers gives out its own answer, and
while no read gives up inside a container all are given out in the camera's order.
-/

namespace PictureTransfer.Relay.CameraRelay

open Camera (Delimited Incoming Pipes Port Uses prefix_of_flatten)

/-! ## One exchange -/

section Exchange

variable {P : Type} [Port P]

/-- The containers that are taken from a camera for a request, each with the reply made of it. -/
def collected (request : Request) : Nat → CameraRelay P → List (Bytes × Bytes)
  | 0, _ => []
  | budget + 1, r =>
    match Port.receive (patience request.stage) r.port with
    | .error _ _ => []
    | .ok container port =>
      match r.translator.toHost container request with
      | (.error _, _) => []
      | (.ok (kind, reply), translator) =>
        (container, reply) ::
          if kind = .response then [] else collected request budget { port, translator }

/-- The request that a transfer of the host leads to, and the relay once it is sent. -/
def sent? (out : Bytes) (r : CameraRelay P) : Option (Request × CameraRelay P) :=
  match r.translator.toCamera out with
  | (.error _, _) | (.ok none, _) => none
  | (.ok (some request), translator) =>
    match Port.send request.container r.port with
    | .error _ _ => none
    | .ok () port => some (request, { port, translator })

/-- The containers that an exchange takes from a camera, each with the reply made of it. -/
def replied (out : Bytes) (r : CameraRelay P) : List (Bytes × Bytes) :=
  match r.sent? out with
  | none => []
  | some (request, sent) => sent.collected request readBudget

theorem transfers_collect (request : Request) (budget : Nat) (r : CameraRelay P) :
    (r.collect request budget).1
      = (r.collected request budget).flatMap fun x => containerTransfers x.2 := by
  induction budget generalizing r with
  | zero => rfl
  | succ budget ih =>
    rw [collect, collected]
    cases Port.receive (patience request.stage) r.port with
    | error e port => rfl
    | ok container port =>
      dsimp only
      rcases r.translator.toHost container request with ⟨e | ⟨kind, reply⟩, translator⟩
      · rfl
      · by_cases response : kind = .response
        · simp [response]
        · simp [response, ih]

/-- An exchange sends a request and collects what comes back, or it gives nothing, and at most the
port has failed to send. -/
theorem exchange_cases (out : Bytes) (r : CameraRelay P) :
    (∃ request translator port, r.translator.toCamera out = (.ok (some request), translator) ∧
      Port.send request.container r.port = .ok () port ∧
      r.sent? out = some (request, { port, translator }) ∧
      r.exchange out = collect request readBudget { port, translator }) ∨
    (r.sent? out = none ∧ (r.exchange out).1 = [] ∧ ((r.exchange out).2.port = r.port ∨
      ∃ container e, Port.send container r.port = .error e (r.exchange out).2.port)) := by
  rw [sent?, exchange]
  rcases r.translator.toCamera out with ⟨e | _ | request, translator⟩
  · exact .inr ⟨rfl, rfl, .inl rfl⟩
  · exact .inr ⟨rfl, rfl, .inl rfl⟩
  · dsimp only
    cases handed : Port.send request.container r.port with
    | error e port => exact .inr ⟨rfl, rfl, .inr ⟨_, e, handed⟩⟩
    | ok done port => exact .inl ⟨request, translator, port, rfl, handed, rfl, rfl⟩

/-- An exchange gives the transfers of the replies. -/
theorem transfers_exchange (out : Bytes) (r : CameraRelay P) :
    (r.exchange out).1 = (r.replied out).flatMap fun x => containerTransfers x.2 := by
  rcases r.exchange_cases out with
    ⟨request, translator, port, -, -, sent, same⟩ | ⟨unsent, nothing, -⟩
  · rw [same, transfers_collect, replied, sent]
  · rw [nothing, replied, unsent]
    rfl

end Exchange

/-! ## The bytes of an exchange -/

/-- What a camera brings when a transfer of the host is sent to it. -/
def brings (out : Bytes) (r : CameraRelay Pipes) : List Incoming :=
  match r.sent? out with
  | none => []
  | some _ => (r.port.script r.port.flushes).toOption.getD []

/-- Containers are taken whole and one behind the other. Behind the last of them a read may have
given up, or brought something that is no container, and what it found is lost. -/
theorem uses_collect (request : Request) (budget : Nat) (r : CameraRelay Pipes) :
    (∀ x ∈ r.collected request budget, Delimited x.1) ∧
      ∃ lost, Uses (((r.collected request budget).map Prod.fst).flatten ++ lost) r.port.incoming
        (r.collect request budget).2.port.incoming := by
  induction budget generalizing r with
  | zero => exact ⟨List.forall_mem_nil _, [], .refl _⟩
  | succ budget ih =>
    rw [collect, collected]
    cases received : Port.receive (patience request.stage) r.port with
    | error e port =>
      obtain ⟨used, uses⟩ := Pipes.uses_receive_error received
      exact ⟨List.forall_mem_nil _, used, uses⟩
    | ok container port =>
      obtain ⟨delimited, uses⟩ := Pipes.uses_receive received
      dsimp only
      rcases r.translator.toHost container request with ⟨e | ⟨kind, reply⟩, translator⟩
      · exact ⟨List.forall_mem_nil _, container, uses⟩
      · by_cases response : kind = .response
        · simp only [if_pos response]
          refine ⟨List.forall_mem_singleton.2 delimited, [], ?_⟩
          simpa using uses
        · obtain ⟨others, lost, later⟩ := ih { port, translator }
          simp only [if_neg response]
          refine ⟨List.forall_mem_cons.2 ⟨delimited, others⟩, lost, ?_⟩
          have both := uses.trans later
          rw [← List.append_assoc] at both
          exact both

theorem delimited_replied (out : Bytes) (r : CameraRelay Pipes) :
    ∀ x ∈ r.replied out, Delimited x.1 := by
  rw [replied]
  cases r.sent? out with
  | none => exact List.forall_mem_nil _
  | some forwarded => exact (uses_collect _ _ _).1

theorem incoming_of_sent {out : Bytes} {request : Request} {r sent : CameraRelay Pipes}
    (forwarded : r.sent? out = some (request, sent)) :
    sent.port.incoming = r.port.incoming ++ r.brings out := by
  rcases r.exchange_cases out with ⟨_, translator, port, -, handed, same, -⟩ | ⟨unsent, -⟩
  · rw [same] at forwarded
    cases forwarded
    rw [brings, same]
    exact Pipes.incoming_of_send handed
  · rw [unsent] at forwarded
    cases forwarded

theorem uses_exchange (out : Bytes) (r : CameraRelay Pipes) :
    ∃ lost, Uses (((r.replied out).map Prod.fst).flatten ++ lost)
      (r.port.incoming ++ r.brings out) (r.exchange out).2.port.incoming := by
  rcases r.exchange_cases out with
    ⟨request, translator, port, -, -, sent, same⟩ | ⟨unsent, -, still⟩
  · rw [replied, sent, same, ← incoming_of_sent sent]
    exact (uses_collect request readBudget { port, translator }).2
  · have kept : (r.exchange out).2.port.incoming = r.port.incoming := by
      rcases still with same | ⟨container, e, failed⟩
      · rw [same]
      · exact Pipes.incoming_of_send_error failed
    rw [replied, unsent, brings, unsent, kept, List.append_nil]
    exact ⟨[], .refl _⟩

/-! ## Many exchanges -/

/-- A relay after some transfers of the host. -/
def run (outs : List Bytes) (r : CameraRelay Pipes) : CameraRelay Pipes :=
  outs.foldl (fun r out => (r.exchange out).2) r

/-- What a camera brings for some transfers of the host. -/
def brought : List Bytes → CameraRelay Pipes → List Incoming
  | [], _ => []
  | out :: rest, r => r.brings out ++ brought rest (r.exchange out).2

/-- The containers that are taken for some transfers of the host. -/
def taken : List Bytes → CameraRelay Pipes → List Bytes
  | [], _ => []
  | out :: rest, r => (r.replied out).map Prod.fst ++ taken rest (r.exchange out).2

/-- No read gives up inside a container: the bytes that are read for each transfer of the host are
those of the containers that are taken. -/
def Undivided : List Bytes → CameraRelay Pipes → Prop
  | [], _ => True
  | out :: rest, r =>
    Incoming.waiting (r.port.incoming ++ r.brings out)
        = ((r.replied out).map Prod.fst).flatten
          ++ Incoming.waiting (r.exchange out).2.port.incoming ∧
      Undivided rest (r.exchange out).2

theorem brought_concat (outs : List Bytes) (out : Bytes) (r : CameraRelay Pipes) :
    r.brought (outs ++ [out]) = r.brought outs ++ (r.run outs).brings out := by
  induction outs generalizing r with
  | nil => exact List.append_nil _
  | cons first rest ih =>
    rw [List.cons_append, brought, brought, ih, List.append_assoc]
    rfl

theorem delimited_taken (outs : List Bytes) (r : CameraRelay Pipes) :
    ∀ c ∈ r.taken outs, Delimited c := by
  induction outs generalizing r with
  | nil => exact List.forall_mem_nil _
  | cons out rest ih =>
    rw [taken, List.forall_mem_append, List.forall_mem_map]
    exact ⟨delimited_replied out r, ih _⟩

/-- Of what waited and what was brought, some bytes were read. -/
theorem uses_run (outs : List Bytes) (r : CameraRelay Pipes) :
    ∃ used, Uses used (r.port.incoming ++ r.brought outs) (r.run outs).port.incoming := by
  induction outs generalizing r with
  | nil =>
    rw [brought, List.append_nil]
    exact ⟨[], .refl _⟩
  | cons out rest ih =>
    obtain ⟨lost, first⟩ := uses_exchange out r
    obtain ⟨used, later⟩ := ih (r.exchange out).2
    rw [brought, ← List.append_assoc]
    exact ⟨_, (first.append _).trans later⟩

/-- Where no read gives up inside a container, these bytes are those of the containers taken. -/
theorem uses_run_of_undivided {outs : List Bytes} {r : CameraRelay Pipes}
    (whole : r.Undivided outs) :
    Uses (r.taken outs).flatten (r.port.incoming ++ r.brought outs) (r.run outs).port.incoming := by
  induction outs generalizing r with
  | nil =>
    rw [brought, List.append_nil]
    exact .refl _
  | cons out rest ih =>
    obtain ⟨here, others⟩ := whole
    obtain ⟨lost, first⟩ := uses_exchange out r
    have nothing : lost = [] := by
      have all := first.waiting_eq
      rw [here, List.append_assoc, List.append_cancel_left_eq] at all
      exact List.self_eq_append_left.1 all
    rw [nothing, List.append_nil] at first
    rw [brought, taken, ← List.append_assoc, List.flatten_append]
    exact (first.append _).trans (ih others)

/-! ## Transactions -/

/-- A container of a camera for a transaction: it declares its own length, and is not too long. -/
def ContainerOf (tid : UInt32) (c : Bytes) : Prop :=
  ∃ h body, c = standardContainer h body ∧ h.tid = tid ∧ c.length ≤ Camera.maxContainer

theorem ContainerOf.delimited {tid : UInt32} {c : Bytes} (container : ContainerOf tid c) :
    Delimited c := by
  obtain ⟨h, body, rfl, -, short⟩ := container
  exact Camera.delimited_standardContainer h short

/-- A reply for the host in the given layout, with the given transaction in its header. -/
def Carries (layout : Layout) (tid : UInt32) (reply : Bytes) : Prop :=
  ∃ kind code total tail, reply = Header.encode ⟨kind, code, tid⟩ layout total ++ tail

/-- The layout of what a translator makes for the host. -/
def layoutFor (t : Translator) (request : Request) : Layout :=
  match t.replyLayout with
  | .standard => .standard
  | .mirror => request.layout

theorem carries_build (layout : Layout) (h : Header) (payload : Bytes) :
    Carries layout h.tid (Translator.build layout h payload) := by
  rw [Translator.build_eq]
  exact ⟨h.kind, h.code, _, _, rfl⟩

/-- The host is given a container of the camera under the transaction that the container has. -/
theorem carries_toHost {t : Translator} {request : Request} {tid : UInt32} {c reply : Bytes}
    {kind : Kind} (container : ContainerOf tid c)
    (made : (t.toHost c request).1 = .ok (kind, reply)) :
    Carries (layoutFor t request) tid reply := by
  obtain ⟨h, body, rfl, rfl, -⟩ := container
  rw [Translator.toHost_of_accepted (Header.decodeStandard_standardContainer h body)] at made
  obtain ⟨-, rfl⟩ := Prod.mk.inj (Except.ok.inj made)
  rw [layoutFor]
  cases t.replyLayout with
  | standard =>
    dsimp only
    split
    · exact ⟨.response, ResponseCode.ok, _, _, rfl⟩
    · exact ⟨h.kind, h.code, _, body, rfl⟩
  | mirror =>
    have same : (Translator.shown request h).tid = h.tid := by
      rw [Translator.shown]
      split <;> rfl
    rw [← same]
    exact carries_build _ _ _

/-- Whether a container of a camera is a RESPONSE. -/
def isResponse (container : Bytes) : Bool :=
  match Header.decodeStandard container with
  | .ok (_, h) => h.kind = .response
  | .error _ => false

/-- The containers up to the first RESPONSE. -/
def upToResponse : List Bytes → List Bytes
  | [] => []
  | c :: rest => c :: if isResponse c then [] else upToResponse rest

/-- What the host is given for a RESPONSE is a RESPONSE. -/
theorem isResponse_of_toHost {t : Translator} {request : Request} {c reply : Bytes} {kind : Kind}
    (made : (t.toHost c request).1 = .ok (kind, reply)) :
    isResponse c = true ↔ kind = .response := by
  rw [isResponse]
  cases decoded : Header.decodeStandard c with
  | error e =>
    rw [Translator.toHost_of_rejected decoded] at made
    cases made
  | ok found =>
    rw [Translator.toHost_of_accepted decoded] at made
    obtain ⟨rfl, -⟩ := Prod.mk.inj (Except.ok.inj made)
    exact decide_eq_true_iff

theorem toHost_containerOf {tid : UInt32} {c : Bytes} (container : ContainerOf tid c)
    (request : Request) (t : Translator) : ∃ kind reply translator,
      t.toHost c request = (.ok (kind, reply), translator) ∧
        (isResponse c = true ↔ kind = .response) := by
  obtain ⟨h, body, rfl, -, -⟩ := container
  obtain ⟨reply, translator, made⟩ :=
    Translator.exists_toHost (Header.decodeStandard_standardContainer h body) request t
  exact ⟨h.kind, reply, translator, made, isResponse_of_toHost (congrArg Prod.fst made)⟩

/-- Of containers that wait whole, those up to the first RESPONSE are taken, as far as the budget
goes. -/
theorem collected_of_whole (request : Request) (budget : Nat) {r : CameraRelay Pipes}
    {containers : List Bytes} (each : ∀ c ∈ containers, ∃ tid, ContainerOf tid c)
    (whole : Incoming.waiting r.port.incoming = containers.flatten) :
    (r.collected request budget).map Prod.fst = (upToResponse containers).take budget := by
  induction budget generalizing r containers with
  | zero => rfl
  | succ budget ih =>
    rw [collected]
    cases containers with
    | nil =>
      cases received : Port.receive (patience request.stage) r.port with
      | error e port => rfl
      | ok container port =>
        -- nothing waits, so that nothing can be received
        obtain ⟨⟨long, -⟩, uses⟩ := Pipes.uses_receive received
        have nothing := uses.waiting_eq
        rw [whole] at nothing
        rw [(List.append_eq_nil_iff.1 nothing.symm).1] at long
        cases long
    | cons c rest =>
      obtain ⟨⟨tid, here⟩, later⟩ := List.forall_mem_cons.1 each
      have short : c.length ≤ Camera.maxContainer := by
        obtain ⟨h, body, -, -, short⟩ := here
        exact short
      obtain ⟨port, received, left⟩ :=
        Pipes.receive_of_front here.delimited short whole (patience request.stage)
      obtain ⟨kind, reply, translator, made, responds⟩ :=
        toHost_containerOf here request r.translator
      replace received : Port.receive (patience request.stage) r.port = .ok c port := received
      rw [received]
      dsimp only
      rw [made, upToResponse]
      by_cases response : kind = .response
      · simp [response, responds.2 response]
      · have other : isResponse c = false := by
          rw [Bool.eq_false_iff]
          exact mt responds.1 response
        simpa [response, other] using @ih { port, translator } rest later left

theorem replied_of_whole {out : Bytes} {r : CameraRelay Pipes} (forwarded : (r.sent? out).isSome)
    {containers : List Bytes} (each : ∀ c ∈ containers, ∃ tid, ContainerOf tid c)
    (whole : Incoming.waiting (r.port.incoming ++ r.brings out) = containers.flatten) :
    (r.replied out).map Prod.fst = (upToResponse containers).take readBudget := by
  obtain ⟨⟨request, sent⟩, forwarded⟩ := Option.isSome_iff_exists.1 forwarded
  rw [← incoming_of_sent forwarded] at whole
  rw [replied, forwarded]
  exact collected_of_whole request readBudget each whole

/-- Every reply is made of the container that it stands with. -/
theorem made_of_collected {P : Type} [Port P] {request : Request} {budget : Nat}
    {r : CameraRelay P} {x : Bytes × Bytes} (listed : x ∈ r.collected request budget) :
    ∃ (t : Translator) (kind : Kind), t.replyLayout = r.translator.replyLayout ∧
      (t.toHost x.1 request).1 = .ok (kind, x.2) := by
  induction budget generalizing r with
  | zero => cases listed
  | succ budget ih =>
    rw [collected] at listed
    cases received : Port.receive (patience request.stage) r.port with
    | error e port =>
      rw [received] at listed
      cases listed
    | ok container port =>
      rw [received] at listed
      dsimp only at listed
      have kept : (r.translator.toHost container request).2.replyLayout
          = r.translator.replyLayout := by
        rw [Translator.toHost]
        split
        · rfl
        · dsimp only
          split <;> rfl
      cases made : r.translator.toHost container request with
      | mk outcome translator =>
        rw [made] at listed kept
        rcases outcome with e | ⟨kind, reply⟩
        · cases listed
        · rcases List.mem_cons.1 listed with rfl | later
          · exact ⟨r.translator, kind, rfl, by rw [made]⟩
          · split at later
            · cases later
            · obtain ⟨t, kind, same, made⟩ := ih later
              exact ⟨t, kind, same.trans kept, made⟩

theorem replyLayout_of_sent {P : Type} [Port P] {out : Bytes} {request : Request}
    {r sent : CameraRelay P} (forwarded : r.sent? out = some (request, sent)) :
    sent.translator.replyLayout = r.translator.replyLayout := by
  have kept : (r.translator.toCamera out).2.replyLayout = r.translator.replyLayout := by
    rw [Translator.toCamera]
    split
    · rfl
    · split <;> rfl
  rcases r.exchange_cases out with ⟨_, translator, port, translated, -, same, -⟩ | ⟨unsent, -⟩
  · rw [same] at forwarded
    cases forwarded
    rw [translated] at kept
    exact kept
  · rw [unsent] at forwarded
    cases forwarded

theorem carries_replied {out : Bytes} {request : Request} {r sent : CameraRelay Pipes}
    {tid : UInt32} {x : Bytes × Bytes} (forwarded : r.sent? out = some (request, sent))
    (listed : x ∈ r.replied out) (container : ContainerOf tid x.1) :
    Carries (layoutFor r.translator request) tid x.2 := by
  have kept := replyLayout_of_sent forwarded
  rw [replied, forwarded] at listed
  obtain ⟨t, kind, same, made⟩ := made_of_collected listed
  have carries := carries_toHost container made
  rw [layoutFor, same, kept] at carries
  exact carries

/-! ## A camera that answers in order -/

/-- A camera answers some transfers of the host, each with the containers that stand beside it, late
or never: a container is for a request that was sent and has its transaction, and what the camera
has brought so far is a front of its answers so far. -/
structure InOrder (r : CameraRelay Pipes) (history : List (Bytes × List Bytes)) : Prop where
  own : ∀ before out answer after, history = before ++ (out, answer) :: after → ∀ c ∈ answer,
    ∃ request sent, (r.run (before.map Prod.fst)).sent? out = some (request, sent) ∧
      ContainerOf request.tid c
  brought : ∀ before after, history = before ++ after →
    Incoming.waiting (r.brought (before.map Prod.fst)) <+: (before.flatMap Prod.snd).flatten

section InOrder

variable {r : CameraRelay Pipes} {history : List (Bytes × List Bytes)}

theorem InOrder.delimited (camera : r.InOrder history) {x : Bytes × List Bytes}
    (listed : x ∈ history) : ∀ c ∈ x.2, Delimited c := by
  obtain ⟨before, after, rfl⟩ := List.append_of_mem listed
  intro c answered
  obtain ⟨request, sent, -, container⟩ := camera.own before x.1 x.2 after rfl c answered
  exact container.delimited

/-- With nothing of earlier answers left, an exchange takes its own answer, as far as it has come.
-/
theorem InOrder.replied_own (camera : r.InOrder history) (empty : r.port.incoming = [])
    {before after : List (Bytes × List Bytes)} {out : Bytes} {answer : List Bytes}
    (here : history = before ++ (out, answer) :: after)
    (all : Incoming.waiting (r.brought (before.map Prod.fst)) = (before.flatMap Prod.snd).flatten)
    (none_left : Incoming.waiting (r.run (before.map Prod.fst)).port.incoming = []) :
    ((r.run (before.map Prod.fst)).replied out).map Prod.fst <+: answer := by
  obtain ⟨used, earlier⟩ := uses_run (before.map Prod.fst) r
  obtain ⟨lost, own⟩ := uses_exchange out (r.run (before.map Prod.fst))
  rw [empty, List.nil_append] at earlier
  -- all bytes of earlier answers were used, so that what is brought now is of this answer
  have used_all : used = (before.flatMap Prod.snd).flatten := by
    have now := earlier.waiting_eq
    rw [none_left, List.append_nil, all] at now
    exact now.symm
  have front := camera.brought (before ++ [(out, answer)]) after (by simp [here])
  rw [List.map_append, List.map_singleton, brought_concat, earlier, used_all, List.flatMap_append,
    List.flatMap_singleton, List.flatten_append, List.prefix_append_right_inj, own.waiting_eq,
    List.append_assoc] at front
  refine prefix_of_flatten ?_ ?_ ((List.prefix_append _ _).trans front)
  · exact List.forall_mem_map.2 (delimited_replied out _)
  · exact camera.delimited (x := (out, answer)) (by simp [here])

/-- While no read gives up inside a container, the containers are taken in the camera's order. -/
theorem InOrder.taken_front (camera : r.InOrder history) (empty : r.port.incoming = [])
    {before after : List (Bytes × List Bytes)} (here : history = before ++ after)
    (whole : r.Undivided (before.map Prod.fst)) :
    r.taken (before.map Prod.fst) <+: before.flatMap Prod.snd := by
  have uses := uses_run_of_undivided whole
  have front := camera.brought before after here
  rw [empty, List.nil_append] at uses
  rw [uses.waiting_eq] at front
  refine prefix_of_flatten (delimited_taken _ _) ?_ ((List.prefix_append _ _).trans front)
  intro c answered
  obtain ⟨x, listed, member⟩ := List.mem_flatMap.1 answered
  exact camera.delimited (by rw [here]; exact List.mem_append_left _ listed) c member

end InOrder

/-- A camera answers each request in order, with any number of containers of the request's
transaction, late or never, and nothing waits at first. The transfers of an exchange are those of
the replies that are made of the containers it takes, and of containers that wait whole these are
the ones up to the first RESPONSE, as far as the budget goes. If all earlier answers have come and
nothing of them waits when a request is sent, each of its replies carries the request's transaction.
And as long as no read gives up inside a container, the containers that are taken are those of the
camera in order: none is passed over, none taken twice, and none before its request was sent. -/
theorem relays_in_order {r : CameraRelay Pipes} (empty : r.port.incoming = [])
    {history : List (Bytes × List Bytes)} (camera : r.InOrder history) :
    (∀ before out answer after, history = before ++ (out, answer) :: after →
      let s := r.run (before.map Prod.fst)
      (s.exchange out).1 = (s.replied out).flatMap (fun x => containerTransfers x.2) ∧
      (∀ containers, (s.sent? out).isSome → (∀ c ∈ containers, ∃ tid, ContainerOf tid c) →
        Incoming.waiting (s.port.incoming ++ s.brings out) = containers.flatten →
        (s.replied out).map Prod.fst = (upToResponse containers).take readBudget) ∧
      (Incoming.waiting (r.brought (before.map Prod.fst)) = (before.flatMap Prod.snd).flatten →
        Incoming.waiting s.port.incoming = [] →
        ∀ x ∈ s.replied out, ∃ request sent, s.sent? out = some (request, sent) ∧
          ContainerOf request.tid x.1 ∧ Carries (layoutFor s.translator request) request.tid x.2)) ∧
    ∀ before after, history = before ++ after → r.Undivided (before.map Prod.fst) →
      r.taken (before.map Prod.fst) <+: before.flatMap Prod.snd := by
  refine ⟨?_, ?_⟩
  · intro before out answer after here s
    refine ⟨transfers_exchange out s, ?_, ?_⟩
    · intro containers forwarded each whole
      exact replied_of_whole forwarded each whole
    · intro all none_left x listed
      have own := (camera.replied_own empty here all none_left).subset (List.mem_map_of_mem listed)
      obtain ⟨request, sent, forwarded, container⟩ := camera.own before out answer after here _ own
      exact ⟨request, sent, forwarded, container, carries_replied forwarded listed container⟩
  · intro before after here whole
    exact camera.taken_front empty here whole

/-- Two COMMANDs of a host, each with the RESPONSE that a camera answers it with. -/
def asked : List (Bytes × List Bytes) :=
  [(commandContainer Operation.getDeviceInfo 1 [], [responseContainer ResponseCode.ok 1]),
    (commandContainer 0x9999 2 [], [responseContainer ResponseCode.operationNotSupported 2])]

/-- A relay to a camera that brings some containers after the first COMMAND, and some after the
next. -/
def relayTo (first second : List Bytes) : CameraRelay Pipes where
  port := { script := fun n => .ok ((if n = 0 then first else second).map .transfer) }
  translator := { replyLayout := .standard }

theorem containerOf_responseContainer (code : UInt16) (tid : UInt32) :
    ContainerOf tid (responseContainer code tid) := by
  refine ⟨⟨.response, code, tid⟩, [], rfl, rfl, ?_⟩
  rw [responseContainer, length_standardContainer]
  decide

/-- A camera that brings no more than these answers, and the first of them first. -/
theorem inOrder_asked {r : CameraRelay Pipes} {out next : Bytes} {answer later : List Bytes}
    (both : asked = [(out, answer), (next, later)])
    (first : (r.sent? out).map (fun x => x.1.tid) = some 1)
    (second : ((r.exchange out).2.sent? next).map (fun x => x.1.tid) = some 2)
    (here : Incoming.waiting (r.brought [out]) <+: answer.flatten)
    (there : Incoming.waiting (r.brought [out, next]) <+: (answer ++ later).flatten) :
    r.InOrder asked := by
  cases both
  constructor
  · intro before mine containers after same c listed
    rcases before with _ | ⟨x, _ | ⟨y, rest⟩⟩
    · cases same
      obtain ⟨⟨request, sent⟩, forwarded, tid⟩ := Option.map_eq_some_iff.1 first
      obtain rfl := List.mem_singleton.1 listed
      exact ⟨request, sent, forwarded, tid ▸ containerOf_responseContainer _ _⟩
    · cases same
      obtain ⟨⟨request, sent⟩, forwarded, tid⟩ := Option.map_eq_some_iff.1 second
      obtain rfl := List.mem_singleton.1 listed
      exact ⟨request, sent, forwarded, tid ▸ containerOf_responseContainer _ _⟩
    · simp [asked] at same
  · intro before after same
    rcases before with _ | ⟨x, _ | ⟨y, _ | ⟨z, rest⟩⟩⟩
    · exact List.nil_prefix
    · cases same
      simpa using here
    · cases same
      simpa using there
    · simp [asked] at same

/-- A camera that brings each RESPONSE at once. -/
theorem relays_in_order_prompt :
    let r := relayTo [responseContainer ResponseCode.ok 1]
      [responseContainer ResponseCode.operationNotSupported 2]
    let s := r.run [commandContainer Operation.getDeviceInfo 1 []]
    r.port.incoming = [] ∧ r.InOrder asked ∧ r.Undivided (asked.map Prod.fst) ∧
      (s.exchange (commandContainer 0x9999 2 [])).1
        = [responseContainer ResponseCode.operationNotSupported 2] ∧
      (∀ x ∈ s.replied (commandContainer 0x9999 2 []), ContainerOf 2 x.1) ∧
      r.taken (asked.map Prod.fst) <+: asked.flatMap Prod.snd := by
  intro r s
  have camera : r.InOrder asked :=
    inOrder_asked rfl (by decide +kernel) (by decide +kernel) (by decide +kernel)
      (by decide +kernel)
  have whole : r.Undivided (asked.map Prod.fst) :=
    ⟨by decide +kernel, by decide +kernel, trivial⟩
  obtain ⟨each, all⟩ := relays_in_order rfl camera
  obtain ⟨-, -, own⟩ := each [_] _ _ [] rfl
  refine ⟨rfl, camera, whole, by decide +kernel, ?_, all asked [] rfl whole⟩
  intro x listed
  obtain ⟨request, sent, forwarded, container, -⟩ :=
    own (by decide +kernel) (by decide +kernel) x listed
  have tid : (s.sent? (commandContainer 0x9999 2 [])).map (fun x => x.1.tid) = some 2 := by
    decide +kernel
  replace forwarded : s.sent? _ = some (request, sent) := forwarded
  rw [forwarded] at tid
  rw [← Option.some.inj tid]
  exact container

/-- A camera that brings the first RESPONSE late, after the next COMMAND: the host is given it as
the answer to that one. -/
theorem relays_late_response :
    let r := relayTo [] [responseContainer ResponseCode.ok 1,
      responseContainer ResponseCode.operationNotSupported 2]
    let s := r.run [commandContainer Operation.getDeviceInfo 1 []]
    r.port.incoming = [] ∧ r.InOrder asked ∧
      (s.sent? (commandContainer 0x9999 2 [])).map (fun x => x.1.tid) = some 2 ∧
      (s.exchange (commandContainer 0x9999 2 [])).1 = [responseContainer ResponseCode.ok 1] := by
  intro r s
  have camera : r.InOrder asked :=
    inOrder_asked rfl (by decide +kernel) (by decide +kernel) (by decide +kernel)
      (by decide +kernel)
  exact ⟨rfl, camera, by decide +kernel, by decide +kernel⟩

end PictureTransfer.Relay.CameraRelay
